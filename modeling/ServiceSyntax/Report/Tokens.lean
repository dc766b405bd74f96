import ServiceSyntax.Report.Json
import ServiceSyntax.Scan.Tokens

/-!
# Token reports

The tokens of a source file and the diagnostics for the lines that cannot be scanned, as lines of
text and as one JSON value. The end-of-file token is in the report too.
-/

namespace ServiceSyntax

/-- What a source file holds. -/
structure TokenReport where
  source : String
  tokens : List Located
  problems : List Message

namespace TokenReport

/-- The report on what was come across while a source was read. -/
def ofEvents (source : String) (events : List Scanner.Event) : TokenReport where
  source := source
  tokens := events.filterMap fun
    | .token located => some located
    | _ => none
  problems := events.filterMap fun
    | .problem e => some e.message
    | _ => none

/-- The content of a token, the lexeme where that is fixed. -/
def content (t : Token) : String := if t.kind.isVariable then t.content else t.kind.written

/-- A token on a line of its own. -/
def line (t : Located) : String :=
  let start := toString t.line ++ ":" ++ toString t.column ++ " " ++ t.token.kind.name
  if t.token.kind = .newline then start ++ "\n"
  else start ++ " " ++ Text.quoted (content t.token) ++ "\n"

def text (r : TokenReport) : String := String.join (r.tokens.map line)

private def tokenJson (t : Located) : Json :=
  .object [("line", .int t.line), ("column", .int t.column), ("type", .string t.token.kind.name),
    ("content", .string (content t.token))]

private def problemJson (m : Message) : Json :=
  .object [("source", .string m.context.source), ("start_line", .int m.context.startLine),
    ("end_line", .int m.context.endLine), ("column", .int m.context.column),
    ("description", .string m.description),
    ("help", (m.help.map Json.string).getD .null),
    ("code", .ofTexts (m.context.code.map Text.withoutLineEnd))]

def json (r : TokenReport) : Json :=
  .object [("source", .string r.source), ("tokens", .array (r.tokens.map tokenJson)),
    ("diagnostics", .array (r.problems.map problemJson))]

end TokenReport

end ServiceSyntax
