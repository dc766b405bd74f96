import ServiceSyntax.Files.Host
import ServiceSyntax.Text.Lines
import ServiceSyntax.Text.Utf8
import ServiceSyntax.Vocabulary.Packaged

/-!
# Loading vocabularies

A keyword document is a mapping with an entry `scopes`, which maps the name of each scope to its
terms. Loading a keyword file extends the packaged vocabulary with those of the file.
-/

namespace ServiceSyntax

/-- Why a vocabulary cannot be loaded. -/
inductive LoadError where
  | missingFile (path : String)
  /-- The path cannot be looked up or the file cannot be read. -/
  | unreadableFile (path reason : String)
  | notUtf8 (path : String)
  | badYaml (origin reason : String)
  | notMapping (origin : String)
  | scopesNotMapping (origin : String)
  | badTerms (scope origin : String)
  /-- A scope is named by a number that has no written form. -/
  | longNumber (origin : String)
deriving Repr, DecidableEq

def LoadError.message : LoadError → String
  | missingFile path => "Keyword file not found: " ++ path
  | unreadableFile path reason => "Keyword file cannot be read: " ++ path ++ ": " ++ reason
  | notUtf8 path => "Keyword file is not UTF-8: " ++ path
  | badYaml origin reason => "Invalid YAML in " ++ origin ++ ": " ++ reason
  | notMapping origin => "YAML must be a mapping: " ++ origin
  | scopesNotMapping origin => "'scopes' must be a mapping in " ++ origin
  | badTerms scope origin => "Scope '" ++ scope ++ "' must be a list of strings in " ++ origin
  | longNumber origin => "Scope name has too many digits in " ++ origin

/-- Whether the error is one of the configuration, which is explained to the user. The others stop
the program. -/
def LoadError.isConfig : LoadError → Bool
  | unreadableFile .. | notUtf8 _ | longNumber _ => false
  | _ => true

namespace Registry

open Yaml (Key Value)

/-- The texts in a sequence of texts; nothing at all stands for none. -/
def termsOf? : Value → Option (List String)
  | .scalar .null => some []
  | .sequence items => items.mapM Value.text?
  | _ => none

/-- Sets the terms of a scope, in the place of earlier ones if there are any. -/
def setTerms (scope : String) (terms : List String) :
    List (String × List String) → List (String × List String)
  | [] => [(scope, terms)]
  | (name, known) :: others =>
    if name = scope then (name, terms) :: others else (name, known) :: setTerms scope terms others

/-- The scopes of a document with their terms. Keys with the same written form are one scope, and
the last of them sets its terms. An error shows the written form too. -/
def scopeEntries (origin : String) (known : List (String × List String)) :
    List (Key × Value) → Except LoadError (List (String × List String))
  | [] => .ok known
  | (key, value) :: others =>
    if !key.isWritable then .error (.longNumber origin)
    else match termsOf? value with
      | some terms => scopeEntries origin (setTerms key.written terms known) others
      | none => .error (.badTerms key.written origin)

/-- The registry that the entries of a keyword document make. -/
def ofDocument (document : List (Key × Value)) (origin : String) : Except LoadError Registry :=
  match Key.get? "scopes" document with
  | none => .ok {}
  | some (.mapping scopes) => (scopeEntries origin [] scopes).map ofEntries
  | some _ => .error (.scopesNotMapping origin)

/-- The registry that a keyword text makes. A document that is nothing has no scopes. -/
def ofText (host : Host) (text : List Char) (origin : String) : Except LoadError Registry :=
  match host.yaml text with
  | .error reason => .error (.badYaml origin reason)
  | .ok (.mapping entries) => ofDocument entries origin
  | .ok value => if value.isSomething then .error (.notMapping origin) else .ok {}

/-- The vocabulary of the keyword file at a path. -/
def overlay (host : Host) (path : FilePath) : Except LoadError Registry :=
  match host.file path with
  | .missing => .error (.missingFile path.text)
  | .unreadable reason => .error (.unreadableFile path.text reason)
  | .readable bytes =>
    match Text.Utf8.decode? bytes with
    | none => .error (.notUtf8 path.text)
    | some text => ofText host (Text.unifyLineEnds text) path.text

/-- The packaged vocabulary, extended with that of a keyword file if there is a path to one. -/
def load (host : Host) : Option FilePath → Except LoadError Registry
  | none => .ok packaged
  | some path => (overlay host path).map packaged.merge

end Registry

end ServiceSyntax
