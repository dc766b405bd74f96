import ServiceSyntax.Report.Json
import ServiceSyntax.Vocabulary.Registry

/-!
# Vocabulary reports

Scopes with their terms, one on each line of text or as one JSON value.
-/

namespace ServiceSyntax.Registry

/-- A line for every scope. -/
def text (r : Registry) : String :=
  String.join (r.entries.map fun (name, terms) => name ++ ": " ++ ", ".intercalate terms ++ "\n")

def json (r : Registry) : Json :=
  .object [("scopes", .object (r.entries.map fun (name, terms) => (name, .ofTexts terms)))]

end ServiceSyntax.Registry
