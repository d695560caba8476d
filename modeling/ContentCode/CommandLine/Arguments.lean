/-!
The shape of command lines. Arguments that begin with a hyphen name options, alone or, in their
short form, several in one argument; `--` ends the options. The value of an option is what follows
its name in the same argument, after an equals sign if there is one, or else the next argument,
which must not look like an option. A single hyphen is an ordinary argument.
-/

namespace ContentCode.CommandLine

/-- Whether an option is a mark that may be set once or counted, takes a value, or stops the reading
because it asks for something else. -/
inductive OptionKind where
  | mark
  | counted
  | value
  | stop
  deriving DecidableEq, Repr

structure OptionName where
  long : String
  short : Option Char
  kind : OptionKind
  accepts : String → Bool := fun _ => true

/-- An option as it was met, its value in an argument of its own or not, or any other argument. -/
inductive Item where
  | option (long : String) (value : String) (isSeparate : Bool)
  | plain (text : String)
  deriving DecidableEq, Repr

def looksLikeOption (arg : String) : Bool :=
  match arg.toList with
  | '-' :: _ :: _ => true
  | _ => false

def takeValue? : List String → Option (String × List String)
  | [] => none
  | arg :: args => if looksLikeOption arg then none else some (arg, args)

def longOption? (options : List OptionName) (text : List Char) (args : List String) :
    Option (Item × List String) := do
  let name := text.takeWhile (· ≠ '=')
  let o ← options.find? fun o => o.long.toList = name
  match o.kind, text.dropWhile (· ≠ '=') with
  | .value, _ :: value => return (.option o.long (.ofList value) false, args)
  | .value, [] =>
    let (value, rest) ← takeValue? args
    return (.option o.long value true, rest)
  | _, [] => return (.option o.long "" false, args)
  | _, _ :: _ => none

/-- Options in their short forms, without the hyphen. The value of an option takes all that
follows. -/
def shortOptions? (options : List OptionName) (args : List String) :
    List Char → Option (List Item × List String)
  | [] => some ([], args)
  | c :: text => do
    let o ← options.find? fun o => o.short = some c
    match o.kind, text with
    | .value, [] =>
      let (value, rest) ← takeValue? args
      return ([.option o.long value true], rest)
    | .value, '=' :: value => return ([.option o.long (.ofList value) false], args)
    | .value, value => return ([.option o.long (.ofList value) false], args)
    | .stop, _ => return ([.option o.long "" false], args)
    | _, text =>
      let (items, rest) ← shortOptions? options args text
      return (.option o.long "" false :: items, rest)

def readArgument? (options : List OptionName) (arg : String) (args : List String) :
    Option (List Item × List String) :=
  match arg.toList with
  | '-' :: '-' :: text => (longOption? options text args).map fun (i, rest) => ([i], rest)
  | '-' :: c :: text => shortOptions? options args (c :: text)
  | _ => some ([.plain arg], args)

def isStopped (options : List OptionName) (items : List Item) : Bool :=
  items.any fun
    | .option long _ _ => options.any fun o => o.long = long && o.kind = .stop
    | .plain _ => false

/-- Reads the options in front of the first other argument, or up to one that stops the reading. -/
def readFront? (options : List OptionName) : (fuel : Nat) → List String →
    Option (List Item × List String)
  | 0, args => some ([], args)
  | _, [] => some ([], [])
  | fuel + 1, arg :: args =>
    if !looksLikeOption arg then some ([], arg :: args)
    else if arg = "--" then none
    else do
      let (items, args) ← readArgument? options arg args
      if isStopped options items then return (items, args)
      let (more, args) ← readFront? options fuel args
      return (items ++ more, args)

def readAll? (options : List OptionName) : (fuel : Nat) → List String → Option (List Item)
  | 0, _ => some []
  | _, [] => some []
  | fuel + 1, arg :: args =>
    if arg = "--" then some (args.map .plain)
    else do
      let (items, args) ← readArgument? options arg args
      if isStopped options items then return items
      return items ++ (← readAll? options fuel args)

def noneRepeated (options : List OptionName) (items : List Item) : Bool :=
  options.all fun o => o.kind = .counted ||
    (items.filter fun
      | .option long _ _ => long = o.long
      | .plain _ => false).length ≤ 1

def areValid (options : List OptionName) (items : List Item) : Bool :=
  noneRepeated options items && items.all fun
    | .option long value _ => (options.find? fun o => o.long = long).all fun o => o.accepts value
    | .plain _ => true

/-- The items without a value in an argument of its own at the end. Such a value is looked at only
when the next option or the end of the arguments is met. -/
def settled (items : List Item) : List Item :=
  match items.getLast? with
  | some (.option _ _ true) => items.dropLast
  | _ => items

def plainItems (items : List Item) : List String :=
  items.filterMap fun
    | .plain text => some text
    | .option _ _ _ => none

def optionValue? (long : String) (items : List Item) : Option String :=
  items.findSome? fun
    | .option l v _ => if l = long then some v else none
    | .plain _ => none

/-- The lengths of the longest runs of plain arguments. -/
def plainRuns (run : Nat) : List Item → List Nat
  | [] => if run = 0 then [] else [run]
  | .plain _ :: items => plainRuns (run + 1) items
  | .option _ _ _ :: items => if run = 0 then plainRuns 0 items else run :: plainRuns 0 items

end ContentCode.CommandLine
