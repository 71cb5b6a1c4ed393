import Schematics.CommandLine.Run
import Schematics.CommandLine.SystemError

namespace Schematics

namespace CommandLine

def hostReason : IO.Error → String
  | .noFileOrDirectory _ code details | .permissionDenied _ code details
  | .inappropriateType _ code details | .invalidArgument _ code details
  | .resourceExhausted _ code details | .otherError code details =>
    (SystemError.ofCode code details).message
  | .userError message => message
  | e => e.toString

def attempt {α : Type} (action : IO α) : IO (Except String α) := do
  try
    return .ok (← action)
  catch e =>
    return .error (hostReason e)

def machine : Host IO where
  currentDirectory := attempt do return (← IO.currentDir).toString
  isFile path := do
    match ← attempt ((← IO.currentDir) / path).metadata with
    | .ok found => return found.type == .file
    | .error _ => return false
  contents path := do
    match ← attempt (IO.FS.readBinFile path) with
    | .ok bytes =>
      match String.fromUTF8? bytes with
      | some text => return .ok text
      | none => return .error notText
    | .error reason => return .error reason
  isTerminal := do (← IO.getStderr).isTty

end CommandLine

end Schematics

def main (words : List String) : IO UInt32 := do
  let outcome ← Schematics.CommandLine.runWords Schematics.CommandLine.machine words
  (← IO.getStderr).putStr outcome.messages
  (← IO.getStdout).putStr outcome.output
  return outcome.exitCode.toUInt32
