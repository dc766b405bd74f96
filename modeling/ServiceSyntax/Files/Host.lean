import ServiceSyntax.Files.Path
import ServiceSyntax.Yaml.Value

/-!
# Hosts

What a program finds where it runs: files, and a library that reads YAML. Of the library nothing is
known but that every text is given a value or an error.
-/

namespace ServiceSyntax

/-- What is found at a path. -/
inductive FileState where
  /-- There is no file; a directory is none. -/
  | missing
  /-- The path cannot be looked up or the file cannot be read, and why. -/
  | unreadable (reason : String)
  | readable (content : List UInt8)
deriving Repr, DecidableEq

/-- Where a program runs. Unless more is said there are no files and no text is YAML. -/
structure Host where
  file : FilePath → FileState := fun _ => .missing
  /-- The value of a YAML text, or why it has none. -/
  yaml : List Char → Except String Yaml.Value := fun _ => .error "no YAML"

end ServiceSyntax
