import ServiceSyntax.Diagnostic.Message
import ServiceSyntax.Diagnostic.Suggestion
import ServiceSyntax.Text.Search

/-!
# Diagnostics inside constructs

A failure inside a construct, such as an input port or an import statement, is shown with the
lines of the whole construct and with the terms that are valid there. The column is found in the
raw text of the lines, without parsing them.
-/

namespace ServiceSyntax

/-- All that is known about a failure inside a construct. -/
structure ScopeFailure where
  /-- Context of the offending token. -/
  context : Context
  /-- What was expected there. -/
  message : String
  /-- Content of the offending token. -/
  content : String
  /-- Name of the construct, where it has one. -/
  name : Option String
  /-- First line of the construct. -/
  firstLine : Int
  /-- Raw lines of the construct as far as they have been read. -/
  lines : List String
  /-- Terms that are valid in the construct. -/
  vocabulary : List String
deriving Repr, DecidableEq

namespace ScopeFailure

def description (f : ScopeFailure) : String :=
  if f.content.isEmpty then f.message else f.message ++ ". Found term: " ++ f.content

/-- The context that spans some lines of the construct, or the context of the token where there
are none. -/
def spanning (f : ScopeFailure) (lines : List String) (column : Option Int := none) : Context :=
  let column := column.getD f.context.column
  if lines.isEmpty then { f.context with column }
  else
    { f.context with
      column
      startLine := f.firstLine
      endLine := f.firstLine + lines.length - 1
      code := lines }

/-- The failure at its token, with the terms expected there. -/
def plain (f : ScopeFailure) : Message :=
  .withHelp f.context f.description (Suggestion.help f.context f.content f.vocabulary)

/-- An input port is shown with the column of its closing brace if its last line has one. -/
def inInputPort (f : ScopeFailure) : Message :=
  let brace := f.lines.getLast?.bind fun line => Text.firstIndex? '}' line.toList
  let ctx := f.spanning f.lines (brace.map Int.ofNat)
  .withHelp ctx f.description (some (Suggestion.helpInScope ctx f.content f.vocabulary))

/-- An execution block is shown with all its lines. -/
def inExecution (f : ScopeFailure) : Message :=
  let ctx := f.spanning f.lines
  .withHelp ctx f.description (Suggestion.help ctx f.content f.vocabulary)

/-- Marks the message of a service that turned out to be empty. -/
def emptyServiceMark : String := "unexpected term found inside service"

/-- An empty service is shown with its first line, at the last opening brace in it. -/
def inService (f : ScopeFailure) : Message :=
  match f.lines with
  | [] => f.plain
  | first :: _ =>
    if f.content.isEmpty && Text.occursIn emptyServiceMark.toList f.message.toList then
      let brace := Text.lastIndex? '{' first.toList
      let ctx := f.spanning [first] (brace.map Int.ofNat)
      .withHelp ctx
        ("Service " ++ f.name.getD "None" ++ " is empty and does not have an ending \x7d")
        (some (Suggestion.helpInScope ctx f.content f.vocabulary))
    else f.plain

/-- The words of the first line, between single spaces. -/
def firstWords (f : ScopeFailure) : List String :=
  match f.lines with
  | [] => []
  | first :: _ =>
    (Text.fields ' ' (Text.withoutLineEnd first).toList).map String.ofList

/-- In an import statement the third word is taken for the misspelled one. The column is the
width of the line number, its colon and the first two words. -/
def inImport (f : ScopeFailure) : Message :=
  match f.firstWords with
  | keyword :: path :: term :: _ =>
    -- the spaces between the words are not counted
    let column := (toString f.firstLine ++ ":" ++ keyword).length + path.length
    let ctx := f.spanning f.lines (some column)
    .withHelp ctx f.description (Suggestion.help ctx term f.vocabulary)
  | _ => f.inExecution

/-- The constructs with a diagnostic of their own. -/
def handled : List (String × (ScopeFailure → Message)) :=
  [("inputPort", inInputPort), ("execution", inExecution), ("service", inService),
   ("import", inImport), ("outer", plain), ("interface", plain)]

/-- The diagnostic for a failure inside a construct; without one of its own the construct offers
no terms. -/
def diagnose (f : ScopeFailure) (scope : String) : Message :=
  match handled.lookup scope with
  | some handler => handler f
  | none => { f with vocabulary := [] }.plain

end ScopeFailure

end ServiceSyntax
