import Constituency.CommandLine

/-!
# The program

Reads the files that the arguments name, then answers standard input line by line.
-/
namespace Constituency.CommandLine

def loadReason (error : IO.Error) : FileError :=
  match error with
  | .noFileOrDirectory .. => .notFound
  | .inappropriateType _ code _ => if code = 21 then .isFolder else .notFolder
  | error => .other (toString error)

/-- The contents of some files, read beforehand. -/
def readFiles (paths : List String) : IO Files := do
  let contents ← paths.mapM fun (path : String) => do
    let result ← (IO.FS.readFile path).toBaseIO
    return (path, result.mapError loadReason)
  return fun path => (contents.lookup path).getD (.error .notFound)

def namedFiles (arguments : List String) : List String :=
  match readArguments {} arguments with
  | .ok (.analyze invocation) => invocation.grammarFile.toList ++ invocation.tagFile.toList
  | _ => []

def put (output : Output) : IO Unit := do
  let out ← IO.getStdout
  let err ← IO.getStderr
  out.putStr output.out
  out.flush
  err.putStr output.err

partial def answer (analyzer : Analyzer) (options : AnalyzeOptions) : IO Unit := do
  put prompt
  let input ← (← IO.getStdin).getLine
  unless input.isEmpty do
    put (respond analyzer options input)
    answer analyzer options

end Constituency.CommandLine

open Constituency.CommandLine in
def main (arguments : List String) : IO UInt32 := do
  let files ← readFiles (namedFiles arguments)
  match openSession arguments files with
  | .ended outcome =>
    put outcome.output
    return outcome.code.toUInt32
  | .session analyzer options =>
    answer analyzer options
    return 0
