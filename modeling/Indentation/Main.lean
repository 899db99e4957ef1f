import Indentation.Cli

/-!
# The executable

Asks the system what stands at the two paths that a request looks at, runs the program on that, and
writes what it leaves behind.

## Main definitions

* `Cli.lookAt` — what stands at a path of the system
* `Cli.execute` — answers a command line
* `main` — the entry point
-/

namespace Indentation.Cli

/-- The fault that an error of the system stands for. Some calls give the number of the error with
its sign reversed. -/
def faultOf : IO.Error → FileFault
  | .noFileOrDirectory _ _ _ => .notFound
  | .inappropriateType _ code _ => if code = 20 ∨ -code = 20 then .notDirectory else .isDirectory
  | .invalidArgument name code details =>
    if code = 40 ∨ -code = 40 then .linkLoop
    else if code = 9 ∨ -code = 9 then .badDescriptor
    else .other (toString (IO.Error.invalidArgument name code details))
  | error => .other (toString error)

/-- What stands at a path of the system. -/
def lookAt (path : Path) : IO (Except FileFault FileEntry) := do
  try
    let bytes ← IO.FS.readBinFile (String.ofList path.toText)
    return .ok (.file bytes.toList)
  catch error =>
    return .error (faultOf error)

/-- The two paths that a request looks at, as a file system. -/
def filesFor (request : Request) : IO FileSystem := do
  let config ← lookAt request.configPath
  let input ← lookAt request.inputPath
  return fun path =>
    if path = request.configPath then config
    else if path = request.inputPath then input
    else .error .notFound

/-- The number that the system is given at the end. -/
def Exit.code : Exit → UInt32
  | returned code | stopped code => code.toUInt32
  | broken _ => 1

/-- What is written to the error stream: that of the outcome, or why the program broke off. -/
def Outcome.errorText (outcome : Outcome) : Text :=
  match outcome.exit with
  | .broken reason => outcome.errors ++ reason.message ++ ['\n']
  | _ => outcome.errors

/-- Answers the request of a command line. -/
def execute (argv : List Text) : IO UInt32 := do
  let files ←
    match readRequest argv with
    | .ok request => filesFor request
    | .error _ => pure fun _ => .error .notFound
  let outcome := run .standard files argv
  (← IO.getStdout).putStr (String.ofList outcome.output)
  (← IO.getStderr).putStr (String.ofList outcome.errorText)
  return outcome.exit.code

end Indentation.Cli

/-- The entry point. -/
def main (args : List String) : IO UInt32 :=
  Indentation.Cli.execute (args.map String.toList)
