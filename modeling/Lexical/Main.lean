import Lexical.Cli.Run

/-! The program: it reads the files that the arguments name, and leaves the rest to the command
line's own rules.
-/

namespace Lexical.Main

open Lexical.Cli

/-- The content of a file. -/
def readFile (path : String) : IO (Except FileFault String) := do
  try
    let path := System.mkFilePath [path]
    if ← path.isDir then return .error .directory
    let bytes ← IO.FS.readBinFile path
    match String.fromUTF8? bytes with
    | some text => return .ok text
    | none => return .error .notUtf8
  catch error =>
    match error with
    | .noFileOrDirectory .. => return .error .missing
    | error => return .error (.other (toString error))

/-- What the program leaves behind, once the files are read. -/
def output (request : Request) : IO Output := do
  match request with
  | .tokenize file options =>
    let start ← IO.monoMsNow
    let content ← readFile file
    let config? ← options.config?.mapM fun path => do
      return (path, ← readFile path)
    let elapsed := ((← IO.monoMsNow) - start).repr ++ "ms"
    return tokenizeFile Pattern.compile file options content elapsed config?
  | request => return run (fun _ => .error .missing) "" request Pattern.compile

end Lexical.Main

/-- Runs the program on its arguments. -/
def main (arguments : List String) : IO UInt32 := do
  let output ← Lexical.Main.output (Lexical.Cli.Request.ofArguments arguments)
  (← IO.getStdout).putStr output.stdout
  (← IO.getStderr).putStr output.stderr
  return output.exitCode.toUInt32
