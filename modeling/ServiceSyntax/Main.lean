import ServiceSyntax.CommandLine.Run
import ServiceSyntax.Yaml.Document

/-!
The command line: reads the environment and the files that a request needs, and prints what the
request gives.
-/

open ServiceSyntax ServiceSyntax.CommandLine

/-- What is found at a path. -/
def readFile (path : FilePath) : IO FileState := do
  try
    return .readable (← IO.FS.readBinFile path.text).toList
  catch
    | .noFileOrDirectory .. | .inappropriateType .. => return .missing
    | e => return .unreadable (toString e)

/-- The host with the files that a request needs. -/
def hostFor (env : Environment) : Request → IO Host
  | .run command => do
    let files ← (command.paths env).mapM fun path => do return (path, ← readFile path)
    return { file := fun path => (files.lookup path).getD .missing, yaml := Yaml.read }
  | _ => return { yaml := Yaml.read }

/-- What is said when the program is stopped. -/
def crashText : Crash → String
  | .source path reason => "Source file cannot be read: " ++ path ++ ": " ++ reason
  | .vocabulary e => e.message

def main (words : List String) : IO UInt32 := do
  match Request.ofWords words with
  | .error e =>
    IO.eprint (helpText ++ toolName ++ ": error: " ++ e.message ++ "\n")
    return 2
  | .ok request =>
    let env : Environment :=
      { overlay := ← IO.getEnv "OLPARSE_KEYWORDS"
        verbose := ((← IO.getEnv "OLPARSE_DEBUG").getD "") != "" }
    match request.grant env (← hostFor env request) with
    | .error e =>
      IO.eprint (closedText (crashText e))
      return 1
    | .ok output =>
      IO.print output.out
      IO.eprint output.err
      return output.status
