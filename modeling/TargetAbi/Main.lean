import TargetAbi.Program

/-!
# The program as it is run

The program reads the one file that its arguments may ask for, and prints what `runProgram` answers.
-/

set_option autoImplicit false

namespace TargetAbi

/-- An error of the operating system in its own words, with its number. -/
def systemReason : IO.Error → String
  | .permissionDenied _ code details | .resourceExhausted _ code details
  | .invalidArgument _ code details | .inappropriateType _ code details
  | .otherError code details | .hardwareFault code details | .resourceBusy code details =>
    details ++ " (os error " ++ Numeral.decimal code.toNat ++ ")"
  | e => e.toString

/-- What a path leads to on this machine. A path that cannot be followed to its end is missing;
what is found there may still refuse to be read, as a directory does with a code of its own. -/
def readState (path : String) : IO FileState := do
  try discard (IO.FS.realPath path)
  catch _ => return .missing
  try
    return .file (← IO.FS.readBinFile path)
  catch
    | .inappropriateType _ 21 _ => return .directory
    | e => return .unreadable (systemReason e)

/-- The part of the file system that a command line may read. -/
def filesFor (arguments : List String) : IO FileSystem := do
  match (Request.ofArguments arguments).toOption.bind Request.path? with
  | none => return fun _ => .missing
  | some path =>
    let state ← readState path
    return fun _ => state

end TargetAbi

/-- Prints the result of the program and exits with its status. -/
def main (arguments : List String) : IO UInt32 := do
  let result := TargetAbi.runProgram (← TargetAbi.filesFor arguments) arguments
  let out ← IO.getStdout
  out.putStr result.stdout
  out.flush
  (← IO.getStderr).putStr result.stderr
  return result.exit
