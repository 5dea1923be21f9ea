import CustomResource.Command.Run

/-!
# The program

The command line over real files.
-/

namespace CustomResource.Command

/-- The cause of a system error. -/
def fileError : IO.Error → FileError
  | .noFileOrDirectory .. => .notFound
  | .inappropriateType .. => .isDirectory
  | other => .other (toString other)

/-- Attempt an operation on files. -/
def attempt {α : Type} (operation : IO α) : IO (Except FileError α) := do
  try return .ok (← operation)
  catch error => return .error (fileError error)

/-- Send a response and give its exit code. -/
def Response.send (response : Response) : IO UInt32 := do
  let stderr ← IO.getStderr
  stderr.putStr response.stderr
  let stdout ← IO.getStdout
  stdout.putStr response.stdout
  stdout.flush
  return response.exitCode

/-- A search without an end, which the process does not outlive: it uses up the stack. -/
partial def endlessSearch (depth : UInt32) : IO UInt32 := do
  return (← endlessSearch (depth + 1)) + depth

end CustomResource.Command

open CustomResource Command

/-- Run the command line. -/
def main (arguments : List String) : IO UInt32 := do
  match Invocation.ofArguments arguments with
  | .error stop => Response.send stop.response
  | .ok invocation =>
      let contents ← invocation.descriptorSets.mapM fun (path : String) => do
        let bytes ← attempt (IO.FS.readBinFile path)
        return (path, bytes.map (·.toList))
      let run := invocation.run fun path => (contents.lookup path).getD (.error .notFound)
      match run.result? with
      | none =>
          (← IO.getStderr).putStr (warningText run.warnings)
          endlessSearch 0
      | some (.error failure) => Response.send (.failure run.warnings failure)
      | some (.ok (.print text)) => Response.send (.success run.warnings text)
      | some (.ok (.save path text)) =>
          match ← attempt (IO.FS.writeFile path text) with
          | .ok () => Response.send (.success run.warnings "")
          | .error cause => Response.send (.failure run.warnings (.writing path cause))
