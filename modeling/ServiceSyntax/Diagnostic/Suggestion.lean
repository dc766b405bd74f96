import ServiceSyntax.Diagnostic.Context
import ServiceSyntax.Diagnostic.EditDistance
import ServiceSyntax.Text.Slice

/-!
# Suggestions

Help for a term that does not fit: the terms that would, or, where some of them are close to it,
the offending line with the first of these in place of the term and a caret below.
-/

namespace ServiceSyntax

namespace Suggestion

/-- Up to this many edits a term counts as a misspelling. -/
def reach : Nat := 2

/-- The candidates within `limit` edits of a term, in their order. -/
def similar (term : String) (candidates : List String) (limit : Int := reach) : List String :=
  candidates.filter fun candidate => decide ((editDistance term candidate : Int) ≤ limit)

def enumeration (terms : List String) : String := ", ".intercalate terms

/-- A line with the characters from a signed position on replaced, as many as `size` says. -/
def substitute (line : String) (position : Int) (size : Nat) (proposal : String) : String :=
  String.ofList (Text.takeTo position line.toList) ++ proposal
    ++ String.ofList (Text.dropFrom (position + size) line.toList)

/-- A line closed by a line feed. -/
def closed (line : String) : String :=
  if line.toList.getLast? = some '\n' then line else line ++ "\n"

def unmatched (terms : List String) : String :=
  "The term did not match possible terms. Possible inputs are:\n" ++ enumeration terms

def similarHeading (proposals : List String) : String :=
  "Your term is similar to what would be valid input: " ++ enumeration proposals
    ++ ". Perhaps you meant:\n"

def caretAt (position : Int) : String := Text.spaces position ++ "^"

/-- Help for an unexpected term at a place with a list of expected terms; no help where none is
expected. The correction is shown in the first line of the context. -/
def help (ctx : Context) (term : String) (expected : List String) : Option String :=
  if expected.isEmpty then none
  else if term.isEmpty then
    some ("You are missing a keyword. Possible inputs are:\n" ++ enumeration expected)
  else match similar term expected with
    | [] => some (unmatched expected)
    | proposal :: others =>
      let heading := similarHeading (proposal :: others)
      match ctx.numberedCode with
      | [] => some (Text.withoutLineEnd heading)
      | line :: _ =>
        let position := ctx.column + ctx.labelWidth 0
        some (heading ++ closed (substitute line position term.length proposal)
          ++ caretAt position)

/-- The code lines of a context, with the correction in the line where the context ends. -/
def correctedLines (ctx : Context) (position : Int) (size : Nat) (proposal : String) :
    List String :=
  ctx.numberedCode.mapIdx fun index line =>
    if ctx.lineNumber index = ctx.endLine then substitute line position size proposal else line

/-- Help for an unexpected term inside a construct. The excerpt shows the whole construct. -/
def helpInScope (ctx : Context) (term : String) (vocabulary : List String) : String :=
  if term.isEmpty then
    "A term is missing. Possible inputs are:\n"
      ++ String.join (vocabulary.map fun word => word ++ "\n")
  else match similar term vocabulary with
    | [] => unmatched vocabulary
    | proposal :: others =>
      let heading := "\n" ++ similarHeading (proposal :: others)
      if ctx.hasCode then
        let position := ctx.column + ctx.labelWidth ctx.lastIndex
        heading ++ String.join ((correctedLines ctx position term.length proposal).map closed)
          ++ caretAt position
      else Text.withoutLineEnd heading

end Suggestion

end ServiceSyntax
