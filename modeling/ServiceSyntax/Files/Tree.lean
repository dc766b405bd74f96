import ServiceSyntax.Files.Host
import ServiceSyntax.Yaml.Document

/-!
# File trees

The files below a working directory. A path is followed part by part, so that every part but the
last has to be a directory, also where two points lead back out of it.
-/

namespace ServiceSyntax

/-- Files with their contents, by their parts below the working directory. -/
structure FileTree where
  files : List (List String × List UInt8)

namespace FileTree

def ofFiles (files : List (String × List UInt8)) : FileTree :=
  ⟨files.map fun file => ((FilePath.ofText file.1).parts, file.2)⟩

def isDirectory (tree : FileTree) (parts : List String) : Bool :=
  parts.isEmpty || tree.files.any fun file => parts.isPrefixOf file.1 && parts != file.1

/-- The longest name that a file can have, in bytes. -/
def maxNameLength : Nat := 255

/-- What is found at the place below the working directory that a path leads to from a place, which
is given with its innermost part first. Nothing is found where the path leads through something that
is no directory, or outside. -/
def follow (tree : FileTree) (place : List String) : List String → FileState
  | [] => ((tree.files.lookup place.reverse).map .readable).getD .missing
  | part :: parts =>
    if !tree.isDirectory place.reverse then .missing
    else if part = ".." then
      match place with
      | [] => .missing
      | _ :: place => follow tree place parts
    else if part.utf8ByteSize > maxNameLength then .unreadable "File name too long"
    else follow tree (part :: place) parts

/-- What is found at a path. -/
def state (tree : FileTree) (path : FilePath) : FileState :=
  if path.start = .working then tree.follow [] path.parts else .missing

/-- The host with these files and with the reader of YAML that is at hand. -/
def host (tree : FileTree) : Host where
  file := tree.state
  yaml := Yaml.read

end FileTree

end ServiceSyntax
