import ServiceSyntax.Diagnostic.Context
import ServiceSyntax.Text.Slice

/-!
# Messages

A message says what is wrong at a context. Below its header it shows either its help or, where
it has none, the numbered code lines with a caret under the column.
-/

namespace ServiceSyntax

/-- A description of what is wrong at a context, with optional help. -/
structure Message where
  context : Context
  description : String
  help : Option String := none
deriving Repr, DecidableEq

namespace Message

/-- A message whose help is dropped if it is empty. -/
def withHelp (context : Context) (description : String) (help : Option String) : Message where
  context := context
  description := description
  help := help.filter fun text => !text.isEmpty

def header (m : Message) : String :=
  m.context.source ++ ":" ++ toString m.context.startLine ++ ": error: " ++ m.description

/-- The caret line: the caret stands under the column of the last code line. -/
def caret (ctx : Context) : String :=
  Text.spaces (ctx.labelWidth ctx.lastIndex + ctx.column) ++ "^"

/-- The numbered code lines and the caret, nothing where there is no code. -/
def excerpt (m : Message) : List String :=
  if m.context.hasCode then
    m.context.numberedCode.map Text.withoutLineEnd ++ [caret m.context]
  else []

/-- The message as it is shown to the user. -/
def render (m : Message) : String :=
  "\n".intercalate <| m.header :: match m.help with
    | some help => [Text.withoutLineEnd help]
    | none => m.excerpt

end Message

end ServiceSyntax
