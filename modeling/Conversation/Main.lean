import Conversation.Program

namespace Conversation

/-- How the operating system describes that a file cannot be read. -/
def systemReason : IO.Error → String
  | .noFileOrDirectory .. => "No such file or directory (os error 2)"
  | .permissionDenied .. => "Permission denied (os error 13)"
  | .inappropriateType _ code _ =>
      if code = 20 ∨ code = -20 then "Not a directory (os error 20)"
      else "Is a directory (os error 21)"
  | error => toString error

def readContents (name : String) : IO Contents := do
  try
    return Contents.ofBytes (← IO.FS.readBinFile name)
  catch error =>
    return .error (systemReason error)

def readInput : IO Contents := do
  let input ← IO.getStdin
  let mut bytes := ByteArray.empty
  repeat
    let chunk ← input.read 65536
    if chunk.isEmpty then break
    bytes := bytes ++ chunk
  return Contents.ofBytes bytes

def readEnvironment : IO Environment := do
  let names := [Settings.fileVariable, Settings.loopsVariable, Settings.formatVariable,
    Settings.colorVariable, Settings.traceVariable, "CLICOLOR_FORCE"]
  let values ← names.mapM fun name => do
    return (← IO.getEnv name).map fun value => (name, value)
  return values.filterMap id

def filesOf (environment : Environment) (invocation : Invocation) : List String :=
  (environment.get? Settings.fileVariable).toList
    ++ invocation.command.file?.toList.filter fun name => !Command.isInput name

def gather (environment : Environment) (args : List String) : IO Surroundings := do
  match CommandLine.parse environment args with
  | .error _ => return ⟨environment, fun _ => .error "", .error ""⟩
  | .ok invocation =>
      let files ← (filesOf environment invocation).mapM fun name => do
        return (name, ← readContents name)
      let input ←
        if invocation.command.file?.any Command.isInput then readInput else pure (.ok "")
      return ⟨environment, fun name => (files.lookup name).getD (.error ""), input⟩

def usage : String :=
  "Compiles conversation protocols into monitor automata\n\n"
    ++ "Usage: convfsm [--no-color] compile [-f FORMAT] [-r REPEAT] [-t] FILE\n"
    ++ "       convfsm [--no-color] inspect [-r REPEAT] FILE\n"
    ++ "       convfsm [--no-color] config\n"

end Conversation

open Conversation in
def main (args : List String) : IO UInt32 := do
  let environment ← readEnvironment
  let surroundings ← gather environment args
  match Program.run surroundings args with
  | .ok report =>
      IO.eprint report.errors
      IO.print report.output
      return UInt32.ofNat report.exit
  | .error .help =>
      IO.print usage
      return 0
  | .error .version =>
      IO.println "convfsm 0.1.0"
      return 0
  | .error _ =>
      IO.eprint usage
      return 2
