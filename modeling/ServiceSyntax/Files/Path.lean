import ServiceSyntax.Text.Search

/-!
# File paths

A path is kept without empty parts and without parts that are a single point; a part that is two
points stays, since it may lead through a link.
-/

namespace ServiceSyntax

/-- What a path starts from: the working directory, the root, or the root with two slashes. -/
inductive FileRoot where
  | working | root | doubleRoot
deriving Repr, DecidableEq

structure FilePath where
  start : FileRoot := .working
  parts : List String
deriving Repr, DecidableEq

namespace FilePath

private def rootOf : List Char → FileRoot
  | '/' :: '/' :: '/' :: _ => .root
  | '/' :: '/' :: _ => .doubleRoot
  | '/' :: _ => .root
  | _ => .working

/-- The path that a text names. -/
def ofText (text : String) : FilePath where
  start := rootOf text.toList
  parts := ((Text.fields '/' text.toList).map String.ofList).filter fun part =>
    part != "" && part != "."

/-- The text of a path; the working directory itself is a point. -/
def text (path : FilePath) : String :=
  let body := "/".intercalate path.parts
  match path.start with
  | .working => if path.parts.isEmpty then "." else body
  | .root => "/" ++ body
  | .doubleRoot => "//" ++ body

end FilePath

end ServiceSyntax
