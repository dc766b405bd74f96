import ServiceSyntax.Text.Blank

/-!
# Contexts

A context is the part of a source that a diagnostic points at: some lines, with their raw text
where it could be read, and a column inside the offending line. Line numbers start at one and
columns at zero; both are integers because callers may move them freely.
-/

namespace ServiceSyntax

/-- A stretch of source lines with a column. -/
structure Context where
  source : String
  startLine : Int
  endLine : Int
  column : Int
  code : List String := []
deriving Repr, DecidableEq

namespace Context

def hasCode (ctx : Context) : Bool := !ctx.code.isEmpty

/-- The source line number of a code line. -/
def lineNumber (ctx : Context) (index : Int) : Int := ctx.startLine + index

/-- The number of a code line with its colon, as it stands in front of the line. -/
def label (ctx : Context) (index : Int) : String := toString (ctx.lineNumber index) ++ ":"

/-- The width of the number and colon in front of a code line. -/
def labelWidth (ctx : Context) (index : Int) : Nat := (ctx.label index).length

/-- The code lines, each behind its number and a colon. -/
def numberedCode (ctx : Context) : List String :=
  ctx.code.mapIdx fun index line => ctx.label index ++ line

/-- The index of the last code line, `-1` where there is none. -/
def lastIndex (ctx : Context) : Int := (ctx.code.length : Int) - 1

end Context

end ServiceSyntax
