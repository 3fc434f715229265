import PatternForge.CommandLine.Program

/-!
The program. It hands its arguments, its environment and the files it is asked to read to
`CommandLine.run` and does what comes back.
-/
namespace PatternForge.Main

open CommandLine

/-- A file as the program sees it. -/
def readFile (path : String) : IO (Except FileFault (List UInt8)) := do
  try
    return .ok (← IO.FS.readBinFile path).toList
  catch fault =>
    match fault with
    | .noFileOrDirectory .. => return .error .notFound
    | .inappropriateType .. => return .error .isDirectory
    | fault => return .error (.other (toString fault))

/-- The files at some paths. -/
def readFiles (paths : List Argument) : IO Files := do
  let found ← paths.mapM fun path => do
    return (path, ← readFile (Text.Utf8.lossy path))
  return fun path => (found.lookup path).getD (.error .notFound)

/-- What the program finds around it. -/
def environment : IO Environment := do
  let seed ← IO.getRandomBytes 8
  return {
    logLevel := ← IO.getEnv "RUST_LOG"
    listsCauses := (← IO.getEnv "RUST_BACKTRACE") == some "1"
    freshSeed := seed.toList.foldl (fun sum b => sum * 256 + b.toUInt64) 0 }

/-- Does what some arguments ask for. -/
def perform (words : List String) : IO UInt32 := do
  let arguments := words.map fun word => word.toUTF8.toList
  let files ← readFiles (wantedPaths arguments)
  let output := CommandLine.run (← environment) files arguments
  (← IO.getStdout).putStr output.standard
  (← IO.getStderr).putStr output.error
  return output.code.toUInt32

end PatternForge.Main

/-- Runs the program. -/
def main (words : List String) : IO UInt32 := PatternForge.Main.perform words
