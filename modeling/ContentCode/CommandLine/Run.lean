import ContentCode.CommandLine.Command
import ContentCode.CommandLine.Configuration
import ContentCode.Json.Pretty
import ContentCode.Report

/-!
What a command does: from its arguments, the standard input and the files to an exit status, the
text for the standard output, and the error if there is one.
-/

namespace ContentCode.CommandLine

/-- What a command can see. A file that cannot be opened is none; one that can be opened may still
fail to be read. -/
structure Environment where
  home : Option String
  standardInput : Input
  file : String → Option Input

/-- An error as it is told: the outermost text, and the errors of the library under it that are not
failures to read. -/
structure Failure where
  message : String
  causes : List Error
  deriving DecidableEq, Repr

structure Outcome where
  status : Nat
  output : String
  failure : Option Failure
  deriving DecidableEq, Repr

/-- A program that stops where it is, with no more to say than the status for it. -/
def Outcome.stopped : Outcome := ⟨101, "", none⟩

/-- What is printed by a command that comes to its end, or the outcome of one that does not. -/
abbrev Result := Except Outcome String

namespace Failure

def plain (message : String) : Failure := ⟨message, []⟩

def under (context : String) (e : Error) : Failure :=
  ⟨context, if e.kind = .io then [] else [e]⟩

end Failure

def fail {α : Type} (f : Failure) : Except Outcome α := .error ⟨1, "", some f⟩

def attempt {α : Type} (context : String) : Except Error α → Except Outcome α
  | .ok a => .ok a
  | .error e => fail (.under context e)

def printJson (v : Json.Value) : String := .ofList (v.pretty 0 ++ ['\n'])

def printLines (lines : List String) : String := String.join (lines.map (· ++ "\n"))

/-- Whether the rest of a path, after a slash or not, holds no more than slashes and dots between
them, which add nothing to what stands before. -/
def addsNothing (afterSlash : Bool) : List Char → Bool
  | [] => true
  | '/' :: path => addsNothing true path
  | '.' :: path => afterSlash && addsNothing false path
  | _ => false

def isStandardInput (path : String) : Bool :=
  match path.toList with
  | '-' :: rest => addsNothing false rest
  | _ => false

def Environment.openInput (env : Environment) (file : String) :
    Except Outcome Input :=
  if isStandardInput file then .ok env.standardInput
  else match env.file file with
    | some input => .ok input
    | none => fail (.plain ("Failed to open " ++ file))

def decodeUtf8? (bytes : List UInt8) : Option String := String.fromUTF8? ⟨bytes.toArray⟩

def readText? (input : Input) : Option String :=
  match input.toBytes with
  | .ok bytes => decodeUtf8? bytes
  | .error _ => none

/-- A path that begins with a tilde lies in the home directory, unless what follows is a full path
by itself. -/
def Environment.expand (env : Environment) (path : String) : String :=
  match path.toList, env.home with
  | '~' :: '/' :: '/' :: rest, some _ => .ofList ('/' :: rest)
  | '~' :: '/' :: rest, some home => home ++ "/" ++ .ofList rest
  | _, _ => path

def Environment.settings (env : Environment) (path : String) :
    Except Outcome Settings :=
  match env.file (env.expand path) with
  | none => .ok {}
  | some input =>
    let result := match readText? input with
      | some text => settingsOfText text
      | none => .error .unreadable
    match result with
    | .ok s => .ok s
    | .error e => fail (.plain e.message)

/-- A header field by its number or by its name in any case. -/
def headerField {α : Type} (text : String) (all : List α) (name : α → String)
    (ofNumber : Nat → Except Error α) : Except Outcome α :=
  match number? 255 text with
  | some n =>
    match ofNumber n with
    | .ok a => .ok a
    | .error e => fail (.plain e.message)
  | none =>
    let lower := fun s : String => s.toList.map Char.toLower
    match all.find? fun a => lower (name a) = lower text with
    | some a => .ok a
    | none => fail (.plain ("Unknown header value: " ++ text))

def encode (maintype subtype digest : String) (bits : Nat) : Result := do
  let t ← headerField maintype MainType.all MainType.name MainType.ofNumber
  let s ← headerField subtype SubType.all SubType.name SubType.ofNumber
  match Hex.decode digest with
  | none => fail (.plain "Digest must be hex")
  | some digest =>
    let code ← attempt "Failed to encode unit" (Code.encode t s .v0 bits digest)
    return printLines [Code.withScheme code]

def text (env : Environment) (file : String) (bits : Nat) : Result := do
  let input ← env.openInput file
  match readText? input with
  | none => fail (.plain ("Failed to read UTF-8 text from " ++ file))
  | some text =>
    let code ← attempt "Failed to generate Text-Code" (TextCode.generate text bits)
    return printJson (Report.ofText code)

def absorbFile {σ : Type} (env : Environment) (file : String) (s : Settings)
    (absorb : σ → List UInt8 → σ) (start : σ) : Except Outcome σ := do
  let input ← env.openInput file
  match Input.buffer? s.bufferSize with
  | some room => attempt "Failed to read input" (input.absorbAll absorb room start)
  | none => .error .stopped

def data (env : Environment) (file : String) (s : Settings) : Result := do
  let state ← absorbFile env file s DataState.absorb .new
  let code ← attempt "Failed to generate Data-Code" (state.finish s.bits).1
  return printJson (Report.ofIscc code.iscc)

def inst (env : Environment) (file : String) (s : Settings) : Result := do
  let state ← absorbFile env file s InstanceState.absorb .new
  let code ← attempt "Failed to generate Instance-Code" (state.finish s.bits).1
  return printJson (Report.ofInstance code)

def sum (env : Environment) (file : String) (s : Settings) : Result := do
  let input ← env.openInput file
  match SumCode.generate input s with
  | some result =>
    let code ← attempt ("Failed to hash " ++ file) result
    return printJson (Report.ofSum code)
  | none => .error .stopped

def chunks (env : Environment) (file : String) (average : Nat) (align : Bool) : Result := do
  let input ← env.openInput file
  let bytes ← attempt ("Failed to read " ++ file) input.toBytes
  let chunks ← attempt "Failed to chunk input" (Chunking.chunksOfAverage average align bytes)
  return printJson (Report.ofChunks chunks)

def selftest : Result :=
  let report := Conformance.report
  let output := printJson (Report.ofConformance report)
  if report.isSuccess then .ok output
  else
    let failed := toString report.failures.length
    let failure := failed ++ " of " ++ toString report.total ++ " conformance cases failed"
    .error ⟨1, output, some (.plain failure)⟩

def Command.run (env : Environment) (s : Settings) : Command → Result
  | .encode maintype subtype digest => CommandLine.encode maintype subtype digest s.bits
  | .decode code => do
    let u ← attempt ("Failed to decode " ++ code) (Code.decode code)
    return printJson (Report.ofUnit u)
  | .decompose code => do
    let codes ← attempt ("Failed to decompose " ++ code) (Composite.decompose code)
    return printLines (codes.map Code.withScheme)
  | .metadata name description document => do
    let code ← attempt "Failed to generate Meta-Code"
      (MetaCode.generate name description document s.bits)
    return printJson (Report.ofMeta code)
  | .text file => CommandLine.text env file s.bits
  | .data file => CommandLine.data env file s
  | .inst file => CommandLine.inst env file s
  | .sum file wide => CommandLine.sum env file { s with wide := wide || s.wide }
  | .compose codes wide => do
    let code ← attempt "Failed to assemble ISCC-CODE"
      (Composite.assemble codes (wide || s.wide))
    return printJson (Report.ofIscc code)
  | .chunks file average align => CommandLine.chunks env file average align
  | .selftest => CommandLine.selftest

/-- Loads the settings, puts the given number of bits over them, and runs the command. -/
def Invocation.run (env : Environment) (i : Invocation) : Result := do
  let s ← env.settings i.config
  let s := { s with bits := i.bits.getD s.bits }
  attempt "Invalid configuration" s.validate
  i.command.run env s

def Outcome.ofResult : Result → Outcome
  | .ok output => ⟨0, output, none⟩
  | .error o => o

def usage : String :=
  "Usage: iscc [OPTIONS] <COMMAND>\n\nCommands: " ++
    ", ".intercalate (commandNames.map CommandName.name) ++ "\n"

def version : String := "iscc 0.1.0\n"

def run (env : Environment) (args : List String) : Outcome :=
  match Request.ofArguments args with
  | .run i => .ofResult (i.run env)
  | .help => ⟨0, usage, none⟩
  | .version => ⟨0, version, none⟩
  | .wrong => ⟨2, "", none⟩

def Command.file? : Command → Option String
  | .text f | .data f | .inst f | .sum f _ | .chunks f _ _ => some f
  | _ => none

end ContentCode.CommandLine
