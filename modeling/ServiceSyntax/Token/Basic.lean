import ServiceSyntax.Text.Quoted
import ServiceSyntax.Token.Kind

/-!
# Tokens

A token is a kind with its content. It has no position: the scanner and the cursor keep track of
where it was read. `Token.text` gives the source text of a token back.
-/

namespace ServiceSyntax

/-- A classified unit of source text. -/
structure Token where
  kind : Kind
  content : String := ""
deriving Repr, DecidableEq

namespace Token

def isEndOfFile (t : Token) : Bool := t.kind = .endOfFile

/-- An identifier, or a keyword that may stand in for one. -/
def isIdentifierLike (t : Token) : Bool := t.kind.isIdentifierLike

/-- An identifier that reads exactly `word`. -/
def isWord (t : Token) (word : String) : Bool := t.kind = .identifier && t.content == word

/-- The keyword that a word is, or else an identifier. -/
def ofWord (word : String) : Token :=
  match Keyword.ofLexeme? word with
  | some k => ⟨.keyword k, ""⟩
  | none => ⟨.identifier, word⟩

/-- A character of a string literal as it is written between the quotes. -/
def escaped (c : Char) : List Char :=
  if c = '\\' then ['\\', '\\']
  else if c = '\n' then ['\\', 'n']
  else if c = '\t' then ['\\', 't']
  else if c = '"' then ['\\', '"']
  else [c]

/-- The content of a string literal as it is written, quotes included. -/
def literal (content : String) : String :=
  String.ofList ('"' :: content.toList.flatMap escaped ++ ['"'])

/-- The source text of a token. -/
def text (t : Token) : String :=
  match t.kind with
  | .string => literal t.content
  | .newline => "\n"
  | .symbol s => s.lexeme
  | .keyword k => k.lexeme
  | _ => t.content

/-- A token as listings show it: the name of its kind and, unless empty, its content. -/
def shown (t : Token) : String :=
  if t.content.isEmpty then "Token(" ++ t.kind.name ++ ")"
  else "Token(" ++ t.kind.name ++ ", " ++ Text.quoted t.content ++ ")"

end Token

end ServiceSyntax
