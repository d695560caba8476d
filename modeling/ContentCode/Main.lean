import ContentCode.CommandLine.Run

/-!
The program: it reads what the command needs, and prints what comes of it.
-/

namespace ContentCode

open CommandLine

def readFile (path : String) : IO (Option Input) := do
  try
    return some (.ofBytes (← IO.FS.readBinFile path).toList)
  catch
    | .noFileOrDirectory .. => return none
    | e => return some [.failure (toString e)]

def readStandardInput : IO Input := do
  return .ofBytes (← (← IO.getStdin).readBinToEnd).toList

def environment (args : List String) : IO Environment := do
  let home ← IO.getEnv "HOME"
  match Request.ofArguments args with
  | .run i =>
    let file? := i.command.file?
    let input ← if file?.any isStandardInput then readStandardInput else pure []
    let settings := Environment.expand ⟨home, [], fun _ => none⟩ i.config
    let contents ← (settings :: file?.toList).mapM fun f => return (f, ← readFile f)
    return ⟨home, input, fun f => (contents.lookup f).join⟩
  | _ => return ⟨home, [], fun _ => none⟩

end ContentCode

open ContentCode in
def main (args : List String) : IO UInt32 := do
  let outcome := CommandLine.run (← environment args) args
  IO.print outcome.output
  if let some f := outcome.failure then
    IO.eprintln ("Error: " ++ f.message)
    for e in f.causes do
      IO.eprintln ("  " ++ e.message)
  if outcome.status = 2 then
    IO.eprint CommandLine.usage
  return UInt32.ofNat outcome.status
