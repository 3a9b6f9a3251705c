import ApiComponents.CommandLine.Run

/-! # The program

The command line over the files of the system.
-/

namespace ApiComponents

open Files (FileAccess FileFault)

def faultOf : IO.Error → FileFault
  | .noFileOrDirectory _ 20 _ | .inappropriateType _ 20 _ => .notDirectory
  | .noFileOrDirectory _ 36 _ => .tooLong
  | .noFileOrDirectory _ _ _ => .missing
  | .alreadyExists _ _ _ => .present
  | .inappropriateType _ _ _ => .isDirectory
  | error => .other (toString error)

def attemptIO {α : Type} (action : IO α) : IO (Except FileFault α) := do
  try return .ok (← action)
  catch error => return .error (faultOf error)

def readTextFile (path : String) : IO (Except FileFault String) := do
  match ← attemptIO (IO.FS.readBinFile path) with
  | .error fault => return .error fault
  | .ok content =>
      match String.fromUTF8? content with
      | some text => return .ok text
      | none => return .error .notText

instance : FileAccess IO where
  isThere path := return (← attemptIO (IO.FS.Handle.mk path .read)).isOk
  readText := readTextFile
  makeDirectories path := attemptIO (IO.FS.createDirAll path)
  writeText path text := attemptIO (IO.FS.writeFile path text)

/-- Print what a run says, and hand on its exit code. -/
def CommandLine.Outcome.report (outcome : Outcome) : IO UInt32 := do
  IO.print outcome.output
  IO.eprint outcome.messages
  return outcome.code.toUInt32

end ApiComponents

def main (arguments : List String) : IO UInt32 := do
  let outcome ← (ApiComponents.CommandLine.runProgram arguments : IO _)
  outcome.report
